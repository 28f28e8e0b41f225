import Promch.Clickhouse.DataQuery

/-!
# The attempts of a data query

A failover loop tries every host once at most and ends, whatever happens to the
pool while an attempt is awaited.  It ends in one of four ways, and each way
says what was attempted and what was live at that moment.
-/

namespace Promch

/-- The hosts that a data query attempted, in their order. -/
def DataQueryRun.hosts (run : DataQueryRun) : List String :=
  run.attempts.map fun call => call.1.host

namespace Failover

/-- The local state of the loop at the moment it ends. -/
def final (maxFailovers : Option Int) (state : Failover) : List DataAttempt → Failover
  | [] => state
  | attempt :: rest =>
      match state.pick attempt with
      | none => state
      | some node =>
          match attempt.outcome.result with
          | .error (.nodeConnectionError message) =>
              let failed := state.failOver node attempt message
              if isOverBudget maxFailovers failed.attempts then failed
              else final maxFailovers failed rest
          | _ => state

/-- How a loop runs from a state to the moment it ends. -/
inductive Loops (maxFailovers : Option Int) :
    Failover → List DataAttempt → DataQueryRun → Failover → Prop
  /-- Nothing is left to try. -/
  | gaveUp {state : Failover} {script : List DataAttempt}
      (noneLeft : state.topology.candidates state.tried = []) :
      Loops maxFailovers state script { result := .error state.giveUp, attempts := [] } state
  /-- The attempt returns rows or raises anything but a connection error. -/
  | decided {state : Failover} {attempt : DataAttempt} {node : Node} {rest : List DataAttempt}
      (picked : state.pick attempt = some node)
      (decisive : ∀ recorded message, attempt.outcome ≠ .connectionError recorded message) :
      Loops maxFailovers state (attempt :: rest)
        { result := attempt.outcome.result, attempts := [(node, attempt.outcome)] } state
  /-- The attempt fails and the budget is used up. -/
  | overBudget {state : Failover} {attempt : DataAttempt} {node : Node} {rest : List DataAttempt}
      {recorded message : String}
      (picked : state.pick attempt = some node)
      (outcome : attempt.outcome = .connectionError recorded message)
      (exceeded : isOverBudget maxFailovers (state.attempts + 1) = true) :
      Loops maxFailovers state (attempt :: rest)
        { result := .error (.nodeConnectionError message)
          attempts := [(node, attempt.outcome)] }
        (state.failOver node attempt message)
  /-- The attempt fails and the loop goes on. -/
  | failedOver {state moment : Failover} {attempt : DataAttempt} {node : Node}
      {rest : List DataAttempt} {recorded message : String} {run : DataQueryRun}
      (picked : state.pick attempt = some node)
      (outcome : attempt.outcome = .connectionError recorded message)
      (inBudget : isOverBudget maxFailovers (state.attempts + 1) = false)
      (later : Loops maxFailovers (state.failOver node attempt message) rest run moment) :
      Loops maxFailovers state (attempt :: rest) (prepend (node, attempt.outcome) run) moment

variable {maxFailovers : Option Int} {state moment : Failover} {run : DataQueryRun}
variable {script : List DataAttempt}

/-- A loop that ends has run to its final state. -/
theorem loops_final (ran : loop maxFailovers state script = some run) :
    Loops maxFailovers state script run (final maxFailovers state script) := by
  induction script generalizing state run with
  | nil =>
      rw [loop] at ran
      split at ran
      · next noneLeft =>
          cases ran
          exact .gaveUp noneLeft
      · cases ran
  | cons attempt rest inductionHypothesis =>
      rw [loop] at ran
      rw [final]
      cases picked : state.pick attempt with
      | none =>
          rw [picked] at ran
          cases ran
          exact .gaveUp ((state.topology.pickOneLive_eq_none_iff _ _).mp picked)
      | some node =>
          rw [picked] at ran
          cases outcome : attempt.outcome with
          | answered | queryError | otherError =>
              simp only [outcome, NodeOutcome.result] at ran ⊢
              cases ran
              have decided : Loops maxFailovers state (attempt :: rest)
                  { result := attempt.outcome.result, attempts := [(node, attempt.outcome)] }
                  state :=
                .decided picked (by simp [outcome])
              rw [outcome] at decided
              exact decided
          | connectionError recorded message =>
              simp only [outcome, NodeOutcome.result] at ran ⊢
              split at ran
              · next exceeded =>
                  cases ran
                  rw [if_pos exceeded, ← outcome]
                  exact .overBudget picked outcome exceeded
              · next within =>
                  obtain ⟨later, laterRan, rfl⟩ := Option.map_eq_some_iff.mp ran
                  rw [if_neg within, ← outcome]
                  exact .failedOver picked outcome (Bool.eq_false_iff.mpr within)
                    (inductionHypothesis laterRan)

/-- A picked node is live and has not been tried. -/
theorem live_of_pick
    {attempt : DataAttempt}
    {node : Node}
    (picked : state.pick attempt = some node) :
    node.alive = true ∧ node.host ∉ state.tried :=
  ((state.topology.mem_candidates_iff _ node).mp
    (state.topology.mem_candidates_of_pickOneLive picked)).2

/-- Within the budget there is room for one more attempt. -/
theorem lt_of_inBudget
    {budget : Int}
    {attempts : Nat}
    (inBudget : isOverBudget (some budget) attempts = false) :
    (attempts : Int) ≤ max budget 0 := by
  simp only [isOverBudget, Option.any_some, decide_eq_false_iff_not, not_lt] at inBudget
  exact inBudget.trans (le_max_left _ _)

namespace Loops

/-- No host is tried twice. -/
theorem nodup_hosts (loops : Loops maxFailovers state script run moment) :
    run.hosts.Nodup ∧ ∀ host ∈ run.hosts, host ∉ state.tried := by
  induction loops with
  | gaveUp noneLeft => simp [DataQueryRun.hosts]
  | decided picked decisive | overBudget picked outcome exceeded =>
      simpa [DataQueryRun.hosts] using (live_of_pick picked).2
  | failedOver picked outcome inBudget later inductionHypothesis =>
      obtain ⟨nodup, untried⟩ := inductionHypothesis
      constructor
      · refine List.nodup_cons.mpr ⟨fun again => ?_, nodup⟩
        exact untried _ again List.mem_cons_self
      · intro host attempted
        obtain rfl | further := List.mem_cons.mp attempted
        · exact (live_of_pick picked).2
        · exact fun tried => untried host further (List.mem_cons_of_mem _ tried)

/-- Only live nodes are tried. -/
theorem alive_of_mem
    (loops : Loops maxFailovers state script run moment) :
    ∀ call ∈ run.attempts, call.1.alive = true := by
  induction loops with
  | gaveUp noneLeft => simp
  | decided picked decisive | overBudget picked outcome exceeded =>
      simpa using (live_of_pick picked).1
  | failedOver picked outcome inBudget later inductionHypothesis =>
      intro call attempted
      obtain rfl | further := List.mem_cons.mp attempted
      · exact (live_of_pick picked).1
      · exact inductionHypothesis call further

/-- A budget bounds the number of attempts. -/
theorem length_attempts_le
    {budget : Int}
    (loops : Loops (some budget) state script run moment)
    (room : (state.attempts : Int) ≤ max budget 0) :
    (state.attempts + run.attempts.length : Int) ≤ max budget 0 + 1 := by
  induction loops with
  | gaveUp noneLeft =>
      simp only [List.length_nil]
      omega
  | decided picked decisive | overBudget picked outcome exceeded =>
      simp only [List.length_singleton]
      omega
  | failedOver picked outcome inBudget later inductionHypothesis =>
      have bounded := inductionHypothesis (lt_of_inBudget inBudget)
      simp only [failOver, prepend, List.length_cons] at bounded ⊢
      omega

/-- An attempt that does not end in a connection error is the last one, and the
loop ends as it does. -/
theorem eq_of_decisive
    {earlier later : List (Node × NodeOutcome)}
    {call : Node × NodeOutcome}
    (loops : Loops maxFailovers state script run moment)
    (attempted : run.attempts = earlier ++ call :: later)
    (decisive : ∀ recorded message, call.2 ≠ .connectionError recorded message) :
    later = [] ∧ run.result = call.2.result := by
  induction loops generalizing earlier with
  | gaveUp noneLeft => simp at attempted
  | decided picked _ =>
      cases earlier with
      | nil =>
          cases attempted
          exact ⟨rfl, rfl⟩
      | cons first others => simp at attempted
  | overBudget picked outcome exceeded =>
      cases earlier with
      | nil =>
          cases attempted
          exact absurd outcome (decisive _ _)
      | cons first others => simp at attempted
  | failedOver picked outcome inBudget _ inductionHypothesis =>
      cases earlier with
      | nil =>
          obtain ⟨rfl, rfl⟩ := List.cons.inj attempted
          exact absurd outcome (decisive _ _)
      | cons first others =>
          obtain ⟨-, further⟩ := List.cons.inj attempted
          exact inductionHypothesis further

/-- A loop that returns rows ends with an attempt that was answered so. -/
theorem exists_of_result_ok
    {rows : List Row}
    (loops : Loops maxFailovers state script run moment)
    (returned : run.result = .ok rows) :
    ∃ earlier node, run.attempts = earlier ++ [(node, .answered rows)] := by
  induction loops with
  | gaveUp noneLeft | overBudget picked outcome exceeded => cases returned
  | @decided _ attempt node _ picked decisive =>
      refine ⟨[], node, ?_⟩
      cases outcome : attempt.outcome with
      | answered answer =>
          rw [outcome] at returned
          cases returned
          rfl
      | connectionError | queryError | otherError =>
          rw [outcome] at returned
          cases returned
  | @failedOver _ _ attempt node _ _ _ _ picked outcome inBudget later inductionHypothesis =>
      obtain ⟨earlier, answered, attempts⟩ := inductionHypothesis returned
      exact ⟨(node, attempt.outcome) :: earlier, answered, congrArg _ attempts⟩

/-- Without a budget a loop ends with a connection error only when every node
that is live has been tried. -/
theorem tried_of_live
    {message : String}
    (loops : Loops none state script run moment)
    (raised : run.result = .error (.nodeConnectionError message)) :
    ∀ node ∈ moment.topology.allLive, node.host ∈ state.tried ∨ node.host ∈ run.hosts := by
  induction loops with
  | gaveUp noneLeft =>
      intro node live
      obtain ⟨tracked, alive⟩ := List.mem_filter.mp live
      left
      by_contra untried
      have candidate := (ClusterTopology.mem_candidates_iff _ _ node).mpr ⟨tracked, alive, untried⟩
      rw [noneLeft] at candidate
      cases candidate
  | @decided _ attempt _ _ picked decisive =>
      cases outcome : attempt.outcome with
      | connectionError recorded text => exact absurd outcome (decisive recorded text)
      | answered | queryError | otherError =>
          rw [outcome] at raised
          cases raised
  | overBudget picked outcome exceeded => cases exceeded
  | failedOver picked outcome inBudget later inductionHypothesis =>
      intro node live
      obtain tried | further := inductionHypothesis raised node live
      · obtain same | earlier := List.mem_cons.mp tried
        · right
          rw [same]
          exact List.mem_cons_self
        · exact .inl earlier
      · exact .inr (List.mem_cons_of_mem _ further)

/-- A loop raises that no node is live only at once, with nothing to try. -/
theorem of_noLiveNodes
    {message : String}
    (loops : Loops maxFailovers state script run moment)
    (raised : run.result = .error (.noLiveNodesError message)) :
    run.attempts = [] ∧ state.lastError = none ∧
      moment.topology.candidates state.tried = [] := by
  induction loops with
  | @gaveUp state _ noneLeft =>
      refine ⟨rfl, ?_, noneLeft⟩
      obtain ⟨first, -⟩ | ⟨text, giveUp⟩ := state.giveUp_cases
      · exact first
      · rw [giveUp] at raised
        cases raised
  | @decided _ attempt _ _ picked decisive =>
      cases outcome : attempt.outcome with
      | answered | connectionError | queryError | otherError =>
          rw [outcome] at raised
          cases raised
  | overBudget picked outcome exceeded => cases raised
  | failedOver picked outcome inBudget later inductionHypothesis =>
      -- A failed attempt leaves its error to be raised.
      obtain ⟨-, noError, -⟩ := inductionHypothesis raised
      cases noError

/-- A loop raises what its last attempt raised, or what the one before the loop did,
or that no node is live. -/
theorem raised_of_result_error
    {error : Raised}
    (loops : Loops maxFailovers state script run moment)
    (raised : run.result = .error error) :
    (∃ earlier node outcome, run.attempts = earlier ++ [(node, outcome)] ∧
        outcome.result = .error error) ∨
      (run.attempts = [] ∧ ∃ message, state.lastError = some message ∧
        error = .nodeConnectionError message) ∨
      ∃ message, error = .noLiveNodesError message := by
  induction loops with
  | @gaveUp state _ noneLeft =>
      cases raised
      right
      cases earlier : state.lastError with
      | none => exact .inr ⟨_, by rw [giveUp, earlier]; rfl⟩
      | some message => exact .inl ⟨rfl, message, rfl, by rw [giveUp, earlier]⟩
  | decided picked decisive => exact .inl ⟨[], _, _, rfl, raised⟩
  | overBudget picked outcome exceeded =>
      refine .inl ⟨[], _, _, rfl, ?_⟩
      rw [outcome]
      exact raised
  | failedOver picked outcome inBudget later inductionHypothesis =>
      obtain ⟨earlier, last, ending, attempts, same⟩ | ⟨none, message, failed, same⟩ | noneLive :=
        inductionHypothesis raised
      · exact .inl ⟨_ :: earlier, last, ending, congrArg _ attempts, same⟩
      · -- The attempt just made was the last one.
        cases failed
        refine .inl ⟨[], _, _, congrArg _ none, ?_⟩
        rw [outcome, same]
        rfl
      · exact .inr (.inr noneLive)

end Loops

end Failover

/-- What holds of a data query that ended, and of the pool at that moment. -/
structure DataQueryRun.Complete
    (run : DataQueryRun)
    (maxFailovers : Option Int)
    (moment : ClusterTopology) : Prop where
  /-- Every host is attempted once at most. -/
  once : run.hosts.Nodup
  /-- A node is attempted only while it is live. -/
  live : ∀ call ∈ run.attempts, call.1.alive = true
  /-- A budget bounds the number of hosts. -/
  bounded : ∀ budget, maxFailovers = some budget →
    (run.hosts.length : Int) ≤ max budget 0 + 1
  /-- The first attempt that succeeds is the last one, and its rows are returned. -/
  answered : ∀ earlier node rows later,
    run.attempts = earlier ++ (node, .answered rows) :: later →
      later = [] ∧ run.result = .ok rows
  /-- Rows are returned only if an attempt succeeded with them. -/
  returned : ∀ rows, run.result = .ok rows →
    ∃ earlier node, run.attempts = earlier ++ [(node, .answered rows)]
  /-- A query error of an attempt ends the query at once. -/
  rejected : ∀ earlier node message later,
    run.attempts = earlier ++ (node, .queryError message) :: later →
      later = [] ∧ run.result = .error (.nodeQueryError message)
  /-- Whatever is raised but that no node is live was raised by the last attempt. -/
  raised : ∀ error, run.result = .error error →
    (∃ earlier node outcome, run.attempts = earlier ++ [(node, outcome)] ∧
        outcome.result = .error error) ∨
      ∃ message, error = .noLiveNodesError message
  /-- Without a budget a connection error is raised only when every node that is
  live at that moment has been attempted. -/
  exhausted : maxFailovers = none → ∀ message,
    run.result = .error (.nodeConnectionError message) →
      ∀ node ∈ moment.allLive, node.host ∈ run.hosts
  /-- That no node is live is raised only if it is so and none was attempted. -/
  noLive : ∀ message, run.result = .error (.noLiveNodesError message) →
    moment.allLive = [] ∧ run.attempts = []

/-- A data query ends as soon as its script has an attempt for every host, and
however long the script is, it ends as it should. -/
theorem failover_complete
    (hosts : Finset String)
    (topology : ClusterTopology)
    (maxFailovers : Option Int)
    (script : List DataAttempt)
    (pool : ∀ host ∈ topology.nodes.keys, host ∈ hosts)
    (within : HostsWithin hosts script) :
    (hosts.card ≤ script.length →
      (topology.executeDataQuery maxFailovers script).isSome = true) ∧
    ∀ run, topology.executeDataQuery maxFailovers script = some run →
      run.Complete maxFailovers
        (Failover.final maxFailovers { topology := topology } script).topology := by
  constructor
  · intro enough
    apply Failover.loop_isSome hosts script pool within
    exact (Finset.card_filter_le _ _).trans enough
  · intro run ran
    have loops := Failover.loops_final ran
    constructor
    · exact loops.nodup_hosts.1
    · exact loops.alive_of_mem
    · rintro budget rfl
      have bounded := loops.length_attempts_le (by simp)
      simpa [DataQueryRun.hosts] using bounded
    · intro earlier node rows later attempted
      exact loops.eq_of_decisive attempted (by simp)
    · exact fun rows => loops.exists_of_result_ok
    · intro earlier node message later attempted
      exact loops.eq_of_decisive attempted (by simp)
    · intro error raised
      obtain last | ⟨_, _, failed, _⟩ | noneLive := loops.raised_of_result_error raised
      · exact .inl last
      · cases failed
      · exact .inr noneLive
    · rintro rfl message raised node live
      exact (loops.tried_of_live raised node live).resolve_left List.not_mem_nil
    · intro message raised
      obtain ⟨nothing, -, noneLeft⟩ := loops.of_noLiveNodes raised
      exact ⟨(ClusterTopology.candidates_nil _).symm.trans noneLeft, nothing⟩

/-- Two declared seeds, both live. -/
def liveSeeds : ClusterTopology :=
  (ClusterTopology.create { seedHosts := ["h1", "h2"], clusterName := "c" } ⟨0, 0⟩).applyAll
    [.markAlive 0 ⟨1, 1⟩, .markAlive 1 ⟨1, 1⟩]

/-- The first attempt fails while a third member is discovered; the next one
is answered. -/
def failoverScript : List DataAttempt :=
  [{ choice := 0
     before := [.addMember "h3" 2 ⟨2, 2⟩]
     outcome := .connectionError "down" "h1: down"
     clock := ⟨3, 3⟩
     after := [.markAlive 2 ⟨4, 4⟩] },
   { choice := 0, outcome := .answered [], clock := ⟨5, 5⟩ },
   { choice := 0, outcome := .answered [], clock := ⟨6, 6⟩ }]

theorem failover_complete_after_failure :
    ∃ run, liveSeeds.executeDataQuery none failoverScript = some run ∧
      run.hosts = ["h1", "h2"] ∧
      run.Complete none
        (Failover.final none { topology := liveSeeds } failoverScript).topology := by
  have complete := failover_complete {"h1", "h2", "h3"} liveSeeds none failoverScript
    (by decide) (by unfold HostsWithin; decide)
  obtain ⟨run, ran⟩ := Option.isSome_iff_exists.mp (complete.1 (by decide))
  have hosts : (liveSeeds.executeDataQuery none failoverScript).map DataQueryRun.hosts =
      some ["h1", "h2"] := by decide
  rw [ran] at hosts
  exact ⟨run, ran, Option.some.inj hosts, complete.2 run ran⟩

end Promch
