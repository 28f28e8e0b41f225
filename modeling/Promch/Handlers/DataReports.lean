import Promch.Handlers.SystemReports

/-!
# What a data execution reports

A data query that ends in an answer, in a query error or without live nodes is
reported as a success, as a broken query or as an unavailable cluster.  A
connection error that escapes the failover loop is reported as a broken query.
-/

namespace Promch

/-- The report is a success or an availability failure. -/
def ExecutionOutcome.IsAvailability (outcome : ExecutionOutcome) : Prop :=
  outcome.isSuccess = true ∨
    ∃ errorType message failedNodes,
      outcome = .failure errorType message failedNodes ∧ errorType.isAvailability = true

/-- Connection failures are availability failures: the query returns rows, or
raises the query error of an attempted node, or finds no live node.  Without a
query error and with the value contract met the report is a success or an
availability error, and a query that never succeeded shows as pending. -/
def AvailabilityLaw
    (config : OperatorConfig)
    (run : DataQueryRun)
    (outcome : ExecutionOutcome) : Prop :=
  ((∃ rows, run.result = .ok rows) ∨
    (∃ node message, run.result = .error (.nodeQueryError message) ∧
      (node, NodeOutcome.queryError message) ∈ run.attempts) ∨
    ∃ message, run.result = .error (.noLiveNodesError message)) ∧
  ((∀ node message, (node, NodeOutcome.queryError message) ∉ run.attempts) →
    (∀ rows, run.result = .ok rows → ∀ raw ∈ rows, MeetsContract raw) →
    outcome.IsAvailability ∧
    ∀ collector key entry tickTs now changed,
      collector.entries.get? key = some entry →
      (outcome.isSuccess = true → entry.tickTs ≤ tickTs) →
      ((ExecutionEnd.reported outcome).apply config collector key tickTs now).entries.get? key =
        some changed →
      changed.lastSuccessTs = none → changed.expired = false → changed.isInvalid = false →
      ∀ current clock,
        (deriveStatus (some changed.snapshot) current config clock).phase = some .pending)

/-- A success, or an availability failure of a query that never succeeded and is
not expired, does not show as failing. -/
theorem phase_of_availability
    {config : OperatorConfig}
    {outcome : ExecutionOutcome}
    (available : outcome.IsAvailability)
    {collector : Collector}
    {key : String}
    {entry changed : CachedMetric}
    {tickTs now : Time}
    (registered : collector.entries.get? key = some entry)
    (current : outcome.isSuccess = true → entry.tickTs ≤ tickTs)
    (applied : ((ExecutionEnd.reported outcome).apply config collector key tickTs
      now).entries.get? key = some changed)
    (neverSucceeded : changed.lastSuccessTs = none)
    (notExpired : changed.expired = false)
    (valid : changed.isInvalid = false)
    (status : Status)
    (clock : StatusClock) :
    (deriveStatus (some changed.snapshot) status config clock).phase = some .pending := by
  have snapshotValid : PyText.truthy changed.snapshot.invalidReason = false := valid
  have stepped := (outcome.get?_apply_op config tickTs now registered).symm.trans applied
  rw [phase_deriveStatus status config clock snapshotValid]
  cases outcome with
  | success rows durationSeconds failedNodes =>
      -- A stored success is the first one.
      simp only [ExecutionOutcome.op, HandlerOp.change,
        entry.update_of_current rows durationSeconds failedNodes now (current rfl),
        Option.some.injEq] at stepped
      rw [← stepped] at neverSucceeded
      cases neverSucceeded
  | failure errorType message failedNodes =>
      obtain success | ⟨_, _, _, same, availability⟩ := available
      · cases success
      · cases same
        simp only [ExecutionOutcome.op, HandlerOp.change,
          entry.fail_eq config errorType message failedNodes now, Option.some.injEq] at stepped
        subst stepped
        simp_all [derivePhase, CachedMetric.snapshot, CachedMetric.markFailure, PyText.truthy]

/-- A report that is a success or an availability failure keeps the rest of the
law. -/
theorem availabilityLaw_of_report
    {config : OperatorConfig}
    {run : DataQueryRun}
    {outcome : ExecutionOutcome}
    (allowed : (∃ rows, run.result = .ok rows) ∨
      (∃ node message, run.result = .error (.nodeQueryError message) ∧
        (node, NodeOutcome.queryError message) ∈ run.attempts) ∨
      ∃ message, run.result = .error (.noLiveNodesError message))
    (available : (∀ node message, (node, NodeOutcome.queryError message) ∉ run.attempts) →
      (∀ rows, run.result = .ok rows → ∀ raw ∈ rows, MeetsContract raw) →
      outcome.IsAvailability) :
    AvailabilityLaw config run outcome := by
  refine ⟨allowed, fun noQueryError contract => ⟨available noQueryError contract, ?_⟩⟩
  intro collector key entry tickTs now changed registered current applied neverSucceeded notExpired
    valid status clock
  exact phase_of_availability (available noQueryError contract) registered current applied
    neverSucceeded notExpired valid status clock

/-- Connection failures of a data query are availability failures exactly when
no node is live at the start, or some node answers or rejects the query before
nothing is left to try and the budget is used up.  The query always ends when
the script has an attempt for every host. -/
theorem availabilityLaw_iff
    (config : OperatorConfig)
    (connRef : String)
    (connection : ClickHouseConnection)
    (encounter : Encounter) :
    (∀ hosts : Finset String,
      (∀ host ∈ connection.topology.nodes.keys, host ∈ hosts) →
      HostsWithin hosts encounter.script →
      hosts.card ≤ encounter.script.length →
      (connection.topology.executeDataQuery connection.spec.maxFailovers
        encounter.script).isSome = true) ∧
    ∀ run,
      connection.topology.executeDataQuery connection.spec.maxFailovers encounter.script =
        some run →
      ∃ outcome,
        execute config connRef .data (some connection) encounter = some (.reported outcome) ∧
          (AvailabilityLaw config run outcome ↔
            connection.topology.allLive = [] ∨
              Failover.AnswersInTime connection.spec.maxFailovers
                { topology := connection.topology } encounter.script) := by
  constructor
  · intro hosts pool within enough
    exact Failover.loop_isSome hosts encounter.script pool within (by simpa using enough)
  · intro run ran
    refine ⟨reportData run.result encounter.durationSeconds, by simp [execute, ran], ?_⟩
    obtain ⟨inTime, decided⟩ | ⟨notInTime, ends⟩ := Failover.loop_cases ran
    · refine iff_of_true (availabilityLaw_of_report ?_ ?_) (.inr inTime)
      · exact decided.imp_right .inl
      · intro noQueryError contract
        obtain ⟨rows, returned⟩ | ⟨node, message, -, member⟩ := decided
        · obtain ⟨mapped, -, reported⟩ := reportRows_of_meetsContract (contract rows returned) []
            encounter.durationSeconds
          rw [returned, reportData, reported]
          exact .inl rfl
        · exact absurd member (noQueryError node message)
    · obtain ⟨-, noneLive, raised⟩ | escaped := ends
      · refine iff_of_true (availabilityLaw_of_report ?_ ?_) (.inl ?_)
        · exact .inr (.inr ⟨_, raised⟩)
        · intro _ _
          rw [raised]
          exact .inr ⟨_, _, _, rfl, rfl⟩
        · rwa [ClusterTopology.candidates_nil] at noneLive
      · refine iff_of_false ?_ ?_
        · rintro ⟨⟨rows, returned⟩ | ⟨_, _, raised, -⟩ | ⟨_, raised⟩, -⟩ <;>
            obtain ⟨message, other⟩ | ⟨message, other⟩ := escaped <;>
            simp_all
        · rintro (noneLive | inTime)
          · have noneLeft := connection.topology.candidates_nil.trans noneLive
            have ended := ran.symm.trans (Failover.loop_of_noneLeft _ _ noneLeft)
            cases ended
            obtain ⟨message, other⟩ | ⟨message, other⟩ := escaped <;> cases other
          · exact notInTime inTime

/-- The first node fails and the second one answers. -/
def secondAnswers : Encounter where
  script :=
    [{ choice := 0, outcome := .connectionError "down" "h1: down", clock := ⟨2, 2⟩ },
      { choice := 0, outcome := .answered [], clock := ⟨3, 3⟩ }]
  durationSeconds := 2

/-- The run of a query with these two attempts. -/
def secondAnswersRun : DataQueryRun where
  result := .ok []
  attempts := twoLiveNodes.topology.allLive.zip [.connectionError "down" "h1: down", .answered []]

/-- An answer after a connection failure ends the query and is reported as a success. -/
theorem availabilityLaw_of_answer :
    (twoLiveNodes.topology.executeDataQuery twoLiveNodes.spec.maxFailovers
      secondAnswers.script).isSome = true ∧
    ∃ outcome,
      execute defaultConfig "c" .data (some twoLiveNodes) secondAnswers =
          some (.reported outcome) ∧
        AvailabilityLaw defaultConfig secondAnswersRun outcome := by
  obtain ⟨ends, reports⟩ := availabilityLaw_iff defaultConfig "c" twoLiveNodes secondAnswers
  refine ⟨ends {"h1", "h2"} (by decide) (by simp [HostsWithin, secondAnswers]) (by decide), ?_⟩
  obtain ⟨outcome, reported, law⟩ := reports secondAnswersRun rfl
  refine ⟨outcome, reported, law.mpr (.inr ?_)⟩
  exact .failedOver rfl rfl rfl (.decided rfl (.inl ⟨[], rfl⟩))

/-- A connection to one live node, before any discovery. -/
def oneLiveNode : ClickHouseConnection where
  spec := { seedHosts := ["h1"], clusterName := "c" }
  topology := (ClusterTopology.create { seedHosts := ["h1"], clusterName := "c" }
    ⟨0, 0⟩).applyAll [.markAlive 0 ⟨1, 1⟩]

/-- One attempt with the given outcome. -/
def oneAttempt (outcome : NodeOutcome) : Encounter where
  script := [{ choice := 0, outcome := outcome, clock := ⟨2, 2⟩ }]
  durationSeconds := 1

/-- The run of a query whose only attempt ends so. -/
def oneAttemptRun (outcome : NodeOutcome) : DataQueryRun where
  result := outcome.result
  attempts := oneLiveNode.topology.allLive.map fun node => (node, outcome)

/-- A registered data query that has not run yet. -/
def freshDataQuery : Collector :=
  runOps defaultConfig (startCollector defaultConfig) [.register "ns/d" { name := "hits" } .data]

/-- A connection error of the only node escapes, is reported as a broken query
and shows as failing. -/
theorem not_availabilityLaw_of_connection_error :
    oneLiveNode.topology.executeDataQuery oneLiveNode.spec.maxFailovers
        (oneAttempt (.connectionError "down" "h1: down")).script =
      some (oneAttemptRun (.connectionError "down" "h1: down")) ∧
    execute defaultConfig "c" .data (some oneLiveNode)
        (oneAttempt (.connectionError "down" "h1: down")) =
      some (.reported (.failure .queryError "h1: down" none)) ∧
    ((((ExecutionEnd.reported (.failure .queryError "h1: down" none)).apply defaultConfig
        freshDataQuery "ns/d" 1 2).snapshot "ns/d").map derivePhase) = some .failing ∧
    ¬AvailabilityLaw defaultConfig (oneAttemptRun (.connectionError "down" "h1: down"))
      (.failure .queryError "h1: down" none) := by
  refine ⟨rfl, rfl, by decide, ?_⟩
  rintro ⟨⟨_, other⟩ | ⟨_, _, other, -⟩ | ⟨_, other⟩, -⟩ <;> cases other

end Promch
