import Promch.Clickhouse.Coverage
import Promch.Handlers.Conditions
import Promch.Handlers.Execute

/-!
# What a system execution reports

A system execution ends in a partial success, in the report that all nodes
failed, or in the report that no node is live.  The first part asks when the
second of these is right, the second part what the entry then says about the
nodes of the run.
-/

namespace Promch

/-! ## All nodes failed -/

/-- The report says that all nodes failed. -/
def ExecutionOutcome.SaysAllFailed (outcome : ExecutionOutcome) : Prop :=
  ∃ message failedNodes, outcome = .failure .nodesUnreachable message failedNodes

/-- Every attempted node failed with a connection error. -/
def AllFailed (outcomes : List (Node × NodeOutcome)) : Prop :=
  ∀ call ∈ outcomes, ∃ lastError message, call.2 = .connectionError lastError message

/-- Some attempted node answered, possibly without rows. -/
def SomeAnswered (outcomes : List (Node × NodeOutcome)) : Prop :=
  ∃ call ∈ outcomes, ∃ rows, call.2 = .answered rows

/-- Every answered row meets the value contract of a system query, which leaves
the label column to the exporter. -/
def AnswersMeetContract (nodeLabel : String) (outcomes : List (Node × NodeOutcome)) : Prop :=
  ∀ call ∈ outcomes, ∀ rows, call.2 = .answered rows →
    ∀ row ∈ rows, nodeLabel ∉ row.keys ∧ MeetsContract row

/-- The report says that all nodes failed exactly when they did; with an answer
and the contract met it is a success that lists the nodes that did not respond:
the attempted ones that failed, and the members that are down. -/
def AllFailedLaw
    (topology : ClusterTopology)
    (nodeLabel : String)
    (events : List FanOutEvent)
    (outcomes : List (Node × NodeOutcome))
    (outcome : ExecutionOutcome) : Prop :=
  (outcome.SaysAllFailed ↔ AllFailed outcomes) ∧
    (SomeAnswered outcomes → AnswersMeetContract nodeLabel outcomes →
      ∃ rows durationSeconds failedNodes,
        outcome = .success rows durationSeconds (some failedNodes) ∧
          buildRows (stampedRows nodeLabel outcomes) = .ok rows ∧
          ∀ host, host ∈ failedNodes ↔
            (∃ call ∈ outcomes, call.1.host = host ∧
              ∃ lastError message, call.2 = .connectionError lastError message) ∨
            host ∈ (topology.fanOut events).topology.downMembers)

section AllFailed

variable {topology : ClusterTopology} {nodeLabel : String} {events : List FanOutEvent}
  {outcomes : List (Node × NodeOutcome)}

/-- The label column neither breaks nor meets the contract of a row. -/
theorem meetsContract_stampRow
    {row : Row}
    (reserved : nodeLabel ≠ "query_key")
    (labelFree : nodeLabel ∉ row.keys)
    (contract : MeetsContract row)
    (host : String) :
    MeetsContract (stampRow nodeLabel host row) := by
  obtain ⟨noQueryKey, cell, value, stored, number⟩ := contract
  have notValue : "value" ≠ nodeLabel := by
    rintro rfl
    exact labelFree ((Dict.mem_keys_iff _ _).mpr ⟨cell, stored⟩)
  refine ⟨?_, cell, value, ?_, number⟩
  · rw [stampRow, Dict.mem_keys_set]
    rintro (same | before)
    · exact reserved same.symm
    · exact noQueryKey before
  · rw [stampRow, Dict.get?_set, if_neg notValue, stored]

/-- Answers within the contract are accepted. -/
theorem rowsAccepted_of_answersMeetContract
    (reserved : nodeLabel ≠ "query_key")
    (contract : AnswersMeetContract nodeLabel outcomes) :
    RowsAccepted nodeLabel outcomes := by
  have answered : ∀ call ∈ outcomes, ∀ row ∈ call.2.answer.getD [],
      nodeLabel ∉ row.keys ∧ MeetsContract row := by
    intro call member row present
    cases answer : call.2.answer with
    | none => simp [answer] at present
    | some rows =>
        rw [answer, Option.getD_some] at present
        exact contract call member rows ((call.2.answer_eq_some_iff rows).mp answer) row present
  refine ⟨fun call member row present => (answered call member row present).1, ?_⟩
  intro raw member
  obtain ⟨call, present, stamped⟩ := List.mem_flatMap.mp member
  obtain ⟨row, answer, rfl⟩ := List.mem_map.mp stamped
  obtain ⟨labelFree, rowContract⟩ := answered call present row answer
  exact meetsContract_stampRow reserved labelFree rowContract _

namespace ClusterTopology.Completed

/-- All nodes failed exactly when there is no answer. -/
theorem allFailed_iff (completed : topology.Completed events outcomes) :
    AllFailed outcomes ↔ ∀ call ∈ outcomes, call.2.answer = none :=
  forall₂_congr fun _ member => (completed.answer_eq_none_iff member).symm

/-- Either all nodes failed or some node answered. -/
theorem someAnswered_iff (completed : topology.Completed events outcomes) :
    SomeAnswered outcomes ↔ ¬AllFailed outcomes := by
  rw [completed.allFailed_iff]
  push Not
  refine exists_congr fun call => and_congr_right fun _ => ?_
  rw [Option.ne_none_iff_exists']
  exact exists_congr fun rows => (call.2.answer_eq_some_iff rows).symm

/-- When all nodes of a fan-out failed, nothing but missing hosts came back. -/
theorem nothingButMissing_of_allFailed
    (completed : topology.Completed events outcomes)
    (live : topology.allLive ≠ [])
    (allFailed : AllFailed outcomes) :
    NothingButMissing topology events outcomes := by
  have noAnswer := completed.allFailed_iff.mp allFailed
  have attempted : outcomes ≠ [] := by
    rintro rfl
    exact live completed.map_fst.symm
  obtain ⟨call, member⟩ := List.exists_mem_of_ne_nil _ attempted
  refine ⟨fun other present => ?_, .inl ⟨call, member, noAnswer call member⟩⟩
  rw [noAnswer other present, Option.getD_none]

end ClusterTopology.Completed

/-- The report that all nodes failed is right, and a partial answer is a
success, except when every answer was empty and some host is missing. -/
theorem allFailedLaw_iff
    (config : OperatorConfig)
    (connRef : String)
    (connection : ClickHouseConnection)
    (encounter : Encounter)
    (outcomes : List (Node × NodeOutcome))
    (completed : connection.topology.Completed encounter.fanOut outcomes)
    (live : connection.topology.allLive ≠ []) :
    ∃ outcome,
      execute config connRef .system (some connection) encounter = some (.reported outcome) ∧
        (AllFailedLaw connection.topology config.nodeLabel encounter.fanOut outcomes outcome ↔
          ¬(SomeAnswered outcomes ∧
            NothingButMissing connection.topology encounter.fanOut outcomes)) := by
  by_cases accepted : RowsAccepted config.nodeLabel outcomes ∧
      ¬NothingButMissing connection.topology encounter.fanOut outcomes
  · obtain ⟨rowsAccepted, something⟩ := accepted
    obtain ⟨rows, built, reported⟩ := reportSystem_of_accepted completed live rowsAccepted
      something encounter.durationSeconds
    refine ⟨_, execute_of_reportSystem connRef reported, iff_of_true ⟨?_, ?_⟩ ?_⟩
    · refine iff_of_false (fun ⟨_, _, failure⟩ => nomatch failure) fun allFailed => ?_
      exact something (completed.nothingButMissing_of_allFailed live allFailed)
    · intro _ _
      refine ⟨rows, _, _, rfl, built, fun host => ?_⟩
      rw [mem_missingHosts_iff, mem_unreachableHosts_iff]
      refine or_congr_left (exists_congr fun call => ?_)
      refine and_congr_right fun member => ?_
      rw [completed.answer_eq_none_iff member, and_comm]
    · exact fun both => something both.2
  · obtain ⟨errorType, message, reported, kind⟩ := reportSystem_of_not_accepted completed live
      accepted encounter.durationSeconds
    refine ⟨_, execute_of_reportSystem connRef reported, ?_⟩
    have saysSo : (ExecutionOutcome.failure errorType message none).SaysAllFailed ↔
        NothingButMissing connection.topology encounter.fanOut outcomes := by
      rw [← kind]
      constructor
      · rintro ⟨_, _, failure⟩
        cases failure
        rfl
      · rintro rfl
        exact ⟨message, none, rfl⟩
    constructor
    · rintro ⟨allFailedLaw, -⟩ ⟨someAnswered, nothing⟩
      exact completed.someAnswered_iff.mp someAnswered (allFailedLaw.mp (saysSo.mpr nothing))
    · intro notBoth
      refine ⟨saysSo.trans ⟨fun nothing => ?_, ?_⟩, fun someAnswered contract => ?_⟩
      · by_contra notAllFailed
        exact notBoth ⟨completed.someAnswered_iff.mpr notAllFailed, nothing⟩
      · exact completed.nothingButMissing_of_allFailed live
      · refine absurd ⟨?_, fun nothing => notBoth ⟨someAnswered, nothing⟩⟩ accepted
        exact rowsAccepted_of_answersMeetContract config.nodeLabel_valid.2 contract

end AllFailed

/-- A connection to two live nodes, before any discovery. -/
def twoLiveNodes : ClickHouseConnection where
  spec := { seedHosts := ["h1", "h2"], clusterName := "c" }
  topology := (ClusterTopology.create { seedHosts := ["h1", "h2"], clusterName := "c" }
    ⟨0, 0⟩).applyAll [.markAlive 0 ⟨1, 1⟩, .markAlive 1 ⟨1, 1⟩]

/-- The first node answers with the rows, the second one is unreachable. -/
def oneAnswers (rows : List Row) : Encounter where
  fanOut :=
    [.settled 0 (.answered rows) ⟨2, 2⟩,
      .settled 1 (.connectionError "down" "h2: down") ⟨2, 2⟩]
  durationSeconds := 1

/-- The outcomes of the two nodes. -/
def oneAnswersOutcomes (rows : List Row) : List (Node × NodeOutcome) :=
  twoLiveNodes.topology.allLive.zip [.answered rows, .connectionError "down" "h2: down"]

/-- With a row the partial answer is a success. -/
theorem allFailedLaw_of_one_row :
    ∃ outcome,
      execute defaultConfig "c" .system (some twoLiveNodes)
          (oneAnswers [ClusterTopology.unitRow]) = some (.reported outcome) ∧
        AllFailedLaw twoLiveNodes.topology defaultConfig.nodeLabel
          (oneAnswers [ClusterTopology.unitRow]).fanOut
          (oneAnswersOutcomes [ClusterTopology.unitRow]) outcome := by
  obtain ⟨outcome, reported, law⟩ := allFailedLaw_iff defaultConfig "c" twoLiveNodes
    (oneAnswers [ClusterTopology.unitRow]) (oneAnswersOutcomes [ClusterTopology.unitRow])
    ⟨rfl, rfl⟩ (by decide)
  refine ⟨outcome, reported, law.mpr ?_⟩
  rintro ⟨-, noRows, -⟩
  exact absurd noRows (by decide)

/-- Without rows the answer is dropped, and the execution reports that all nodes
failed although the first one answered. -/
theorem not_allFailedLaw_of_empty_answer :
    twoLiveNodes.topology.Completed (oneAnswers []).fanOut (oneAnswersOutcomes []) ∧
      execute defaultConfig "c" .system (some twoLiveNodes) (oneAnswers []) =
        some (.reported (.failure .nodesUnreachable "all nodes failed: h2" none)) ∧
      ¬AllFailedLaw twoLiveNodes.topology defaultConfig.nodeLabel (oneAnswers []).fanOut
        (oneAnswersOutcomes []) (.failure .nodesUnreachable "all nodes failed: h2" none) := by
  refine ⟨⟨rfl, rfl⟩, rfl, ?_⟩
  rintro ⟨allFailedLaw, -⟩
  obtain ⟨call, member, rows, answered⟩ : SomeAnswered (oneAnswersOutcomes []) :=
    ⟨_, List.mem_cons_self, [], rfl⟩
  obtain ⟨_, _, failed⟩ := allFailedLaw.mp ⟨_, _, rfl⟩ call member
  rw [answered] at failed
  cases failed

/-! ## The nodes of the last run -/

/-- The hosts that did not respond in a run: every member when no node is live at
the start, else the hosts without an answer that were attempted or are expected
members at the end. -/
def silentHosts
    (topology : ClusterTopology)
    (events : List FanOutEvent)
    (outcomes : List (Node × NodeOutcome)) : Set String :=
  if topology.allLive = [] then {host | host ∈ topology.memberHosts}
  else
    {host | (∀ call ∈ outcomes, call.1.host = host → ∀ rows, call.2 ≠ .answered rows) ∧
      ((∃ call ∈ outcomes, call.1.host = host) ∨
        ∃ node ∈ (topology.fanOut events).topology.allNodes,
          (topology.fanOut events).topology.isExpected node = true ∧ node.host = host)}

/-- The node list of the entry, and of the status derived from it, is the given
set of hosts. -/
def Collector.DescribesRun
    (collector : Collector)
    (config : OperatorConfig)
    (key : String)
    (silent : Set String) : Prop :=
  ∃ entry, collector.entries.get? key = some entry ∧
    (∀ host, host ∈ entry.failedNodes ↔ host ∈ silent) ∧
    (entry.isInvalid = false → ∀ current clock,
      (∃ failedNodes,
        (deriveStatus (collector.snapshot key) current config clock).failedNodes =
          some failedNodes ∧
        ∀ host, host ∈ failedNodes ↔ host ∈ silent) ∧
      ((deriveStatus (collector.snapshot key) current config clock).Shows
        .allNodesResponding false ↔ silent.Nonempty))

/-- The members did not change sides during the fan-out: at its end a live one
was attempted, and a down one has not answered. -/
def SteadyMembers
    (topology : ClusterTopology)
    (events : List FanOutEvent)
    (outcomes : List (Node × NodeOutcome)) : Prop :=
  ∀ node ∈ (topology.fanOut events).topology.allNodes,
    (topology.fanOut events).topology.isExpected node = true →
      (node.alive = true → ∃ call ∈ outcomes, call.1.host = node.host) ∧
      (node.alive = false →
        ∀ call ∈ outcomes, call.1.host = node.host → ∀ rows, call.2 ≠ .answered rows)

/-- A status is derived from the entry alone, so the entry decides. -/
theorem Collector.describesRun_iff_failedNodes
    {collector : Collector}
    {key : String}
    {entry : CachedMetric}
    (config : OperatorConfig)
    (registered : collector.entries.get? key = some entry)
    (silent : Set String) :
    collector.DescribesRun config key silent ↔
      ∀ host, host ∈ entry.failedNodes ↔ host ∈ silent := by
  constructor
  · rintro ⟨other, otherRegistered, described, -⟩
    obtain rfl := Option.some.inj (registered.symm.trans otherRegistered)
    exact described
  · intro described
    refine ⟨entry, registered, described, fun valid current clock => ?_⟩
    have snapshotValid : PyText.truthy entry.snapshot.invalidReason = false := valid
    rw [Collector.snapshot_of_registered registered]
    refine ⟨⟨_, failedNodes_deriveStatus current config clock snapshotValid, described⟩, ?_⟩
    rw [(shows_allNodesResponding_deriveStatus current config clock snapshotValid).iff_eq, eq_comm,
      decide_eq_false_iff_not]
    constructor
    · intro nonempty
      obtain ⟨host, listed⟩ := List.exists_mem_of_ne_nil _ nonempty
      exact ⟨host, (described host).mp listed⟩
    · rintro ⟨host, member⟩
      exact List.ne_nil_of_mem ((described host).mpr member)

section SilentHosts

variable {topology : ClusterTopology} {events : List FanOutEvent}
  {outcomes : List (Node × NodeOutcome)}

/-- The missing hosts of a result are the silent ones exactly when the members
are steady. -/
theorem mem_missingHosts_iff_mem_silentHosts
    (completed : topology.Completed events outcomes)
    (live : topology.allLive ≠ []) :
    (∀ host, host ∈ missingHosts topology events outcomes ↔
        host ∈ silentHosts topology events outcomes) ↔
      SteadyMembers topology events outcomes := by
  have notAnswered : ∀ call ∈ outcomes,
      call.2.answer = none ↔ ∀ rows, call.2 ≠ .answered rows := by
    intro call _
    rw [Option.eq_none_iff_forall_ne_some]
    exact forall_congr' fun rows => not_congr (call.2.answer_eq_some_iff rows)
  have missing : ∀ host, host ∈ missingHosts topology events outcomes ↔
      (∃ call ∈ outcomes, call.2.answer = none ∧ call.1.host = host) ∨
        ∃ node ∈ (topology.fanOut events).topology.allNodes, node.alive = false ∧
          (topology.fanOut events).topology.isExpected node = true ∧ node.host = host := by
    intro host
    rw [mem_missingHosts_iff, mem_unreachableHosts_iff,
      ClusterTopology.mem_downMembers_iff]
  simp only [missing, silentHosts, if_neg live, Set.mem_ofPred_eq]
  constructor
  · intro same node tracked expected
    refine ⟨fun alive => ?_, fun down => ?_⟩
    · by_contra notAttempted
      push Not at notAttempted
      obtain ⟨call, member, -, sameHost⟩ | ⟨other, otherTracked, down, -, sameHost⟩ :=
        (same node.host).mpr
          ⟨fun call member sameHost => absurd sameHost (notAttempted call member),
            .inr ⟨node, tracked, expected, rfl⟩⟩
      · exact notAttempted call member sameHost
      · have equal := ClusterTopology.eq_of_host_eq _ otherTracked tracked sameHost
        rw [equal, alive] at down
        cases down
    · exact ((same node.host).mp (.inr ⟨node, tracked, down, expected, rfl⟩)).1
  · intro steady host
    constructor
    · rintro (⟨call, member, failed, rfl⟩ | ⟨node, tracked, down, expected, rfl⟩)
      · refine ⟨fun other otherMember sameHost => ?_, .inl ⟨call, member, rfl⟩⟩
        rw [completed.eq_of_host_eq otherMember member sameHost]
        exact (notAnswered call member).mp failed
      · exact ⟨(steady node tracked expected).2 down, .inr ⟨node, tracked, expected, rfl⟩⟩
    · rintro ⟨silent, ⟨call, member, rfl⟩ | ⟨node, tracked, expected, rfl⟩⟩
      · exact .inl ⟨call, member, (notAnswered call member).mpr (silent call member rfl), rfl⟩
      · cases alive : node.alive with
        | false => exact .inr ⟨node, tracked, alive, expected, rfl⟩
        | true =>
            obtain ⟨call, member, sameHost⟩ := (steady node tracked expected).1 alive
            exact .inl ⟨call, member,
              (notAnswered call member).mpr (silent call member sameHost), sameHost⟩

end SilentHosts

/-- A report leaves its own node list in the entry, and without one the list of
an earlier run; a stale success is discarded. -/
theorem failedNodes_of_report
    {collector : Collector}
    {key : String}
    {entry : CachedMetric}
    {tickTs : Time}
    (config : OperatorConfig)
    (outcome : ExecutionOutcome)
    (now : Time)
    (registered : collector.entries.get? key = some entry)
    (current : outcome.isSuccess = true → entry.tickTs ≤ tickTs) :
    ∃ changed,
      ((ExecutionEnd.reported outcome).apply config collector key tickTs now).entries.get? key =
          some changed ∧
        changed.failedNodes =
          match outcome with
          | .success _ _ failedNodes => failedNodes.getD []
          | .failure _ _ failedNodes => failedNodes.getD entry.failedNodes := by
  have stepped := outcome.get?_apply_op config tickTs now registered
  cases outcome with
  | success rows durationSeconds failedNodes =>
      refine ⟨_, stepped, ?_⟩
      rw [entry.update_of_current rows durationSeconds failedNodes now (current rfl)]
  | failure errorType message failedNodes =>
      refine ⟨_, stepped, ?_⟩
      rw [entry.fail_eq config errorType message failedNodes now]
      rfl

/-- After a system execution the entry describes its run exactly when no node was
live, when the members were steady and the report is a success, or when the
report is another failure and the list of the earlier run still holds. -/
theorem describesRun_iff
    (config : OperatorConfig)
    (connRef : String)
    (connection : ClickHouseConnection)
    (encounter : Encounter)
    (outcomes : List (Node × NodeOutcome))
    (completed : connection.topology.Completed encounter.fanOut outcomes) :
    ∃ outcome,
      execute config connRef .system (some connection) encounter = some (.reported outcome) ∧
        ∀ collector key entry tickTs now,
          collector.entries.get? key = some entry →
          (outcome.isSuccess = true → entry.tickTs ≤ tickTs) →
          (((ExecutionEnd.reported outcome).apply config collector key tickTs now).DescribesRun
              config key (silentHosts connection.topology encounter.fanOut outcomes) ↔
            connection.topology.allLive = [] ∨
            (RowsAccepted config.nodeLabel outcomes ∧
              ¬NothingButMissing connection.topology encounter.fanOut outcomes ∧
              SteadyMembers connection.topology encounter.fanOut outcomes) ∨
            (¬(RowsAccepted config.nodeLabel outcomes ∧
                ¬NothingButMissing connection.topology encounter.fanOut outcomes) ∧
              ∀ host, host ∈ entry.failedNodes ↔
                host ∈ silentHosts connection.topology encounter.fanOut outcomes)) := by
  by_cases live : connection.topology.allLive = []
  · refine ⟨_, execute_of_reportSystem connRef (reportSystem_of_no_live _ _ _ live), ?_⟩
    intro collector key entry tickTs now registered current
    obtain ⟨changed, changedRegistered, failedNodes⟩ :=
      failedNodes_of_report config _ now registered current
    rw [Collector.describesRun_iff_failedNodes config changedRegistered, failedNodes]
    refine iff_of_true (fun host => ?_) (.inl live)
    rw [silentHosts, if_pos live]
    rfl
  · simp only [live, false_or]
    by_cases accepted : RowsAccepted config.nodeLabel outcomes ∧
        ¬NothingButMissing connection.topology encounter.fanOut outcomes
    · obtain ⟨rows, -, reported⟩ := reportSystem_of_accepted completed live accepted.1
        accepted.2 encounter.durationSeconds
      refine ⟨_, execute_of_reportSystem connRef reported, ?_⟩
      intro collector key entry tickTs now registered current
      obtain ⟨changed, changedRegistered, failedNodes⟩ :=
        failedNodes_of_report config _ now registered current
      rw [Collector.describesRun_iff_failedNodes config changedRegistered, failedNodes,
        ← mem_missingHosts_iff_mem_silentHosts completed live, ← and_assoc]
      simp [accepted]
    · obtain ⟨errorType, message, reported, -⟩ := reportSystem_of_not_accepted completed live
        accepted encounter.durationSeconds
      refine ⟨_, execute_of_reportSystem connRef reported, ?_⟩
      intro collector key entry tickTs now registered current
      obtain ⟨changed, changedRegistered, failedNodes⟩ :=
        failedNodes_of_report config _ now registered current
      rw [Collector.describesRun_iff_failedNodes config changedRegistered, failedNodes, ← and_assoc]
      simp [accepted]

/-- A system query that succeeded on all nodes at tick 1. -/
def answeredQuery : Collector :=
  runOps defaultConfig (startCollector defaultConfig)
    [.register "ns/s" { name := "hits" } .system, .update "ns/s" [] 1 1 (some []) 2]

/-- A partial success in a steady pool describes its run. -/
theorem describesRun_of_partial_success :
    ∃ outcome,
      execute defaultConfig "c" .system (some twoLiveNodes)
          (oneAnswers [ClusterTopology.unitRow]) = some (.reported outcome) ∧
        ((ExecutionEnd.reported outcome).apply defaultConfig answeredQuery "ns/s" 2 3).DescribesRun
          defaultConfig "ns/s"
          (silentHosts twoLiveNodes.topology (oneAnswers [ClusterTopology.unitRow]).fanOut
            (oneAnswersOutcomes [ClusterTopology.unitRow])) := by
  obtain ⟨outcome, reported, law⟩ := describesRun_iff defaultConfig "c" twoLiveNodes
    (oneAnswers [ClusterTopology.unitRow]) (oneAnswersOutcomes [ClusterTopology.unitRow])
    ⟨rfl, rfl⟩
  refine ⟨outcome, reported, (law answeredQuery "ns/s" _ 2 3 rfl (fun _ => by decide)).mpr
    (.inr (.inl ⟨⟨?_, ?_⟩, ?_, ?_⟩))⟩
  · unfold LabelFree
    decide
  · exact (buildRows_eq_ok_iff _).mp ⟨_, rfl⟩
  · rintro ⟨noRows, -⟩
    exact absurd noRows (by decide)
  · -- The node that answered is live at the end, the other one is down.
    have atEnd : ∀ node ∈ (twoLiveNodes.topology.fanOut
        (oneAnswers [ClusterTopology.unitRow]).fanOut).topology.allNodes,
        node.host = "h1" ∧ node.alive = true ∨ node.host = "h2" ∧ node.alive = false := by
      decide
    intro node tracked _
    obtain ⟨host, alive⟩ | ⟨host, down⟩ := atEnd node tracked
    · refine ⟨fun _ => ⟨_, List.mem_cons_self, host.symm⟩, fun down => ?_⟩
      rw [alive] at down
      cases down
    · refine ⟨fun alive => ?_, fun _ call member sameHost rows => ?_⟩
      · rw [down] at alive
        cases alive
      · obtain rfl | rfl := List.mem_pair.mp member
        · rw [host] at sameHost
          exact absurd sameHost (by decide)
        · nofun

/-- Both nodes are unreachable. -/
def noneAnswers : Encounter where
  fanOut :=
    [.settled 0 (.connectionError "down" "no route") ⟨2, 2⟩,
      .settled 1 (.connectionError "down" "no route") ⟨2, 2⟩]
  durationSeconds := 1

/-- The outcomes of the two nodes. -/
def noneAnswersOutcomes : List (Node × NodeOutcome) :=
  twoLiveNodes.topology.allLive.map fun node => (node, .connectionError "down" "no route")

/-- When all live nodes fail, the empty list of the earlier run stays. -/
theorem not_describesRun_of_all_failed :
    Reachable defaultConfig answeredQuery ∧
      twoLiveNodes.topology.Completed noneAnswers.fanOut noneAnswersOutcomes ∧
      execute defaultConfig "c" .system (some twoLiveNodes) noneAnswers =
        some (.reported (.failure .nodesUnreachable "all nodes failed: h1, h2" none)) ∧
      ¬((ExecutionEnd.reported (.failure .nodesUnreachable "all nodes failed: h1, h2" none)).apply
        defaultConfig answeredQuery "ns/s" 2 3).DescribesRun defaultConfig "ns/s"
          (silentHosts twoLiveNodes.topology noneAnswers.fanOut noneAnswersOutcomes) := by
  refine ⟨Reachable.runOps _ _, ⟨rfl, rfl⟩, rfl, ?_⟩
  rintro ⟨entry, registered, described, -⟩
  have stale : ((((ExecutionEnd.reported
      (.failure .nodesUnreachable "all nodes failed: h1, h2" none)).apply
        defaultConfig answeredQuery "ns/s" 2 3).entries.get? "ns/s").map
          CachedMetric.failedNodes) = some [] := by
    decide
  rw [registered, Option.map_some, Option.some.injEq] at stale
  have silent : "h1" ∈ silentHosts twoLiveNodes.topology noneAnswers.fanOut
      noneAnswersOutcomes := by
    rw [silentHosts, if_neg (by decide)]
    refine ⟨fun call member _ rows => ?_, .inl ⟨_, List.mem_cons_self, rfl⟩⟩
    obtain ⟨node, -, rfl⟩ := List.mem_map.mp member
    nofun
  have listed := (described "h1").mpr silent
  rw [stale] at listed
  cases listed

end Promch
