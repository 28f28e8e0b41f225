import Promch.Clickhouse.SystemQuery

/-!
# Which members a system query accounts for

The queried nodes are fixed when the fan-out starts, the members that are down
are collected when the result is built.  A member that is live at the end but
was not queried falls between the two, and these are the only members a result
leaves out.
-/

namespace Promch
namespace ClusterTopology

/-- The host answered the fan-out and all its rows are in the result. -/
def AnsweredInFull
    (topology : ClusterTopology)
    (events : List FanOutEvent)
    (nodeLabel : String)
    (result : SystemQueryResult)
    (host : String) : Prop :=
  ∃ node rows,
    (node, some (NodeOutcome.answered rows)) ∈ (topology.fanOut events).calls ∧
      node.host = host ∧
      (rows.map (stampRow nodeLabel host)).Sublist result.rows

/-- Every tracked member, at the moment the result is built, answered in full
or is listed as failed. -/
def NoSilentOmission
    (topology : ClusterTopology)
    (events : List FanOutEvent)
    (nodeLabel : String)
    (result : SystemQueryResult) : Prop :=
  ∀ node ∈ (topology.fanOut events).topology.allNodes,
    (topology.fanOut events).topology.isExpected node = true →
      topology.AnsweredInFull events nodeLabel result node.host ∨
        node.host ∈ result.failedNodes

variable {topology : ClusterTopology} {nodeLabel : String} {events : List FanOutEvent}

/-- Once a fan-out has completed, a queried host answered in full or is listed
as failed. -/
private theorem accounted_of_queried
    {outcomes : List (Node × NodeOutcome)}
    {result : SystemQueryResult}
    (completed : topology.Completed events outcomes)
    (rows_eq : result.rows = stampedRows nodeLabel outcomes)
    (failed_eq : result.failedNodes =
      sortedSet (unreachableHosts outcomes ++
        (topology.fanOut events).topology.downMembers))
    {queried : Node}
    (live : queried ∈ topology.allLive) :
    topology.AnsweredInFull events nodeLabel result queried.host ∨
      queried.host ∈ result.failedNodes := by
  rw [← completed.map_fst, List.mem_map] at live
  obtain ⟨⟨node, outcome⟩, member, rfl⟩ := live
  cases answered : outcome.answer with
  | none =>
      right
      rw [failed_eq, mem_sortedSet]
      exact List.mem_append_left _
        ((mem_unreachableHosts_iff _ _).mpr ⟨_, member, answered, rfl⟩)
  | some rows =>
      left
      have outcome_eq := (outcome.answer_eq_some_iff rows).mp answered
      subst outcome_eq
      refine ⟨node, rows, ?_, rfl, ?_⟩
      · rw [completed.calls]
        exact List.mem_map_of_mem member
      · rw [rows_eq, stampedRows]
        exact List.sublist_flatten_of_mem
          (List.mem_map.mpr ⟨(node, .answered rows), member, rfl⟩)

/-- A result accounts for every member exactly when every member that is live
at the end was already live, and hence queried, at the start. -/
theorem noSilentOmission_iff_live_members_queried
    {result : SystemQueryResult}
    (returned : topology.executeSystemQuery nodeLabel events = some (.ok result)) :
    topology.NoSilentOmission events nodeLabel result ↔
      ∀ node ∈ (topology.fanOut events).topology.allNodes,
        (topology.fanOut events).topology.isExpected node = true →
          node.alive = true →
            ∃ queried ∈ topology.allLive, queried.host = node.host := by
  obtain ⟨outcomes, completed, -, rows_eq, failed_eq⟩ := executeSystemQuery_eq_ok returned
  have queried_of_call : ∀ call ∈ (topology.fanOut events).calls,
      call.1 ∈ topology.allLive := by
    intro call member
    rw [← map_fst_calls_fanOut topology events]
    exact List.mem_map_of_mem member
  constructor
  · intro accounted node tracked expected alive
    obtain ⟨queried, rows, member, sameHost, -⟩ | failed := accounted node tracked expected
    · exact ⟨queried, queried_of_call _ member, sameHost⟩
    · rw [failed_eq, mem_sortedSet, List.mem_append, mem_unreachableHosts_iff,
        mem_downMembers_iff] at failed
      obtain ⟨call, member, -, sameHost⟩ | ⟨other, otherTracked, down, -, sameHost⟩ := failed
      · have live : call.1 ∈ topology.allLive := by
          rw [← completed.map_fst]
          exact List.mem_map_of_mem member
        exact ⟨call.1, live, sameHost⟩
      · -- The down member of this host is the node itself, which is live.
        have same := eq_of_host_eq _ otherTracked tracked sameHost
        subst same
        simp [alive] at down
  · intro queriedLive node tracked expected
    cases alive : node.alive with
    | true =>
        obtain ⟨queried, live, sameHost⟩ := queriedLive node tracked expected alive
        rw [← sameHost]
        exact accounted_of_queried completed rows_eq failed_eq live
    | false =>
        right
        rw [failed_eq, mem_sortedSet]
        exact List.mem_append_right _
          ((mem_downMembers_iff _ _).mpr ⟨node, tracked, alive, expected, rfl⟩)

/-- Two confirmed members of a discovered cluster, the first one live. -/
def recoveringPool : ClusterTopology :=
  (create { seedHosts := ["h1", "h2"], clusterName := "c" } ⟨0, 0⟩).applyAll
    [.markAlive 0 ⟨1, 1⟩, .setInCluster "h1" true, .setInCluster "h2" true,
      .discovered 2]

/-- A one-column answer. -/
def unitRow : Row :=
  Dict.ofList [("value", Cell.ofNat 1)]

/-- A fan-out without interference accounts for the down member. -/
theorem noSilentOmission_of_steady_pool :
    recoveringPool.NoSilentOmission [.settled 0 (.answered [unitRow]) ⟨3, 3⟩] "node"
      { rows := [stampRow "node" "h1" unitRow], failedNodes := ["h2"] } :=
  (noSilentOmission_iff_live_members_queried (by rfl)).mpr (by decide)

/-- A health tick revives the second member while the first is queried. -/
def recoveringRun : List FanOutEvent :=
  [.elsewhere (.markAlive 1 ⟨3, 3⟩), .settled 0 (.answered [unitRow]) ⟨4, 4⟩]

/-- The result of the run neither holds rows of the revived member nor lists
it. -/
theorem not_noSilentOmission_of_recovery :
    recoveringPool.executeSystemQuery "node" recoveringRun =
        some (.ok { rows := [stampRow "node" "h1" unitRow], failedNodes := [] }) ∧
      ¬recoveringPool.NoSilentOmission recoveringRun "node"
        { rows := [stampRow "node" "h1" unitRow], failedNodes := [] } := by
  refine ⟨rfl, fun accounted => ?_⟩
  have queriedHosts : (recoveringPool.fanOut recoveringRun).calls.map
      (fun call => call.1.host) = ["h1"] := rfl
  have revived : ∃ node ∈ (recoveringPool.fanOut recoveringRun).topology.allNodes,
      node.host = "h2" ∧
        (recoveringPool.fanOut recoveringRun).topology.isExpected node = true := by
    decide
  obtain ⟨node, tracked, host, expected⟩ := revived
  obtain ⟨queried, rows, member, sameHost, -⟩ | failed := accounted node tracked expected
  · have listed := List.mem_map_of_mem (f := fun call => call.1.host) member
    rw [queriedHosts, List.mem_singleton, sameHost, host] at listed
    exact absurd listed (by decide)
  · simp at failed

end ClusterTopology
end Promch
