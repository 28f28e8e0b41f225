import Promch.Library.Simulation
import Promch.Handlers.OperatorView
import Promch.Handlers.Slots
import Promch.Handlers.SystemReports
import Promch.Handlers.WarmUp

/-!
# The event loop as a run of the operator

The operator takes a turn of a scheduler, and the end of an execution, as one step.
The event loop runs their programs, with awaits between the lookup of a connection and
the report, next to the handlers of the connections.  If connections answer as their
pools do, then every run of the event loop is a run of the operator: what holds of the
collector in all runs of the operator holds in all runs of the programs.
-/

namespace Promch

open EventLoop EventLoop.Coroutine

/-! ## The programs -/

/-- What a caller sees of an outcome, unless it is cancelled. -/
def observed? {α : Type} : Except HandlerFault α → Option (Except Raised α)
  | .ok value => some (.ok value)
  | .error fault => fault.exception?.map .error

/-- A connection answers a query as its pool does.  Without a live node a system query
is refused at once, while the connection is still registered. -/
def RegistryRequest.AnsweredTruly
    (request : RegistryRequest)
    (outcome : Except HandlerFault request.Answer)
    (state : RegistryState) : Prop :=
  match request, outcome with
  | .executeSystemQuery conn _ _ nodeLabel, outcome =>
      ∀ queried, observed? outcome = some queried →
        ∃ (connection : ClickHouseConnection) (events : List FanOutEvent),
          connection.topology.executeSystemQuery nodeLabel events = some queried ∧
          ∀ message, queried = .error (.noLiveNodesError message) →
            (∃ name, state.getConnection name = some conn) ∧
              state.memberHosts conn state.readings = connection.topology.memberHosts
  | .executeDataQuery _ _ _, outcome =>
      ∀ queried, observed? outcome = some queried →
        ∃ (connection : ClickHouseConnection) (script : List DataAttempt) (run : DataQueryRun),
          connection.topology.executeDataQuery connection.spec.maxFailovers script = some run ∧
            run.result = queried
  | _, _ => True

/-- The contract of the handlers when connections answer truly. -/
def truthfulContract : Contract registryLoop :=
  freePolicy.contract.assuming RegistryRequest.AnsweredTruly

/-- The tasks of the event loop as an operator. -/
def operatorSimulation (config : SchedulerConfig) :
    Simulation truthfulContract Stage Operator where
  initial := Stage.initial
  mayStart call := call.isHandler = true
  moves stage effect state later := Stage.Moves state stage effect later
  rests call stage := stage = Stage.initial call
  ends stage := stage = .idle
  step := Operator.StepsTo config
  appears state stages operator := state.AppearsAs config stages operator
  appears_start _ handler appears := appears.start handler
  appears_move appears here moves invariant permitted :=
    appears.move here moves invariant.1 permitted.1

namespace operatorSimulation

variable {config : SchedulerConfig} {task : Nat} {state : RegistryState} {call : RegistryCall}
variable {key connRef sql : String} {queryType : QueryType} {timeout tickTs : Time}

/-- A turn of a scheduler decides as the operator does. -/
private theorem tracks_tick (query : ScheduledQuery) :
    (operatorSimulation config).Tracks task call (Registry.tick key query)
      (fun _ stage _ => stage = .idle) .idle state := by
  simp only [Registry.tick, Registry.readClock, Simulation.tracks_bind, Simulation.tracks_gets,
    Simulation.tracks_andThen_ok]
  cases valid : state.collector.invalidReason key with
  | some reason => rfl
  | none =>
      simp only [Simulation.tracks_bind, Simulation.tracks_gets, Simulation.tracks_andThen_ok]
      cases serving : state.isServing query.connectionRef with
      | false =>
          simp only [Bool.not_false, if_true, Simulation.tracks_bind, Simulation.tracks_emit,
            Simulation.tracks_andThen_ok, Simulation.tracks_pure]
          exact ⟨.idle, .markWaiting query valid serving, rfl⟩
      | true =>
          simp only [Bool.not_true, Bool.false_eq_true, if_false, Simulation.tracks_bind,
            Simulation.tracks_gets, Simulation.tracks_emit, Simulation.tracks_andThen_ok,
            Simulation.tracks_pure]
          refine ⟨.idle, .lookAtClock _, ?_⟩
          split
          · next full =>
              simp only [Simulation.tracks_bind, Simulation.tracks_emit,
                Simulation.tracks_andThen_ok, Simulation.tracks_pure]
              exact ⟨.idle, .recordSkip query _ valid serving full, rfl⟩
          · next room =>
              simp only [Simulation.tracks_bind, Simulation.tracks_emit,
                Simulation.tracks_andThen_ok, Simulation.tracks_pure]
              exact ⟨.idle, .launch query _ valid serving room, rfl⟩

/-- An execution before its report, or after it. -/
def IsExecuting (execution : Promch.Task) (stage : Stage) : Prop :=
  ∃ reported, stage = .executing { execution with reported := reported }

/-- An execution that has not reported reports how it ended. -/
private theorem tracks_report
    {obtained : Option (Nat × Bool)}
    {ended : ClockReading → ExecutionEnd}
    {execution : Promch.Task}
    (unreported : execution.reported = false)
    (executed : ∀ finished, ∃ connection encounter,
      execute state.config.toOperatorConfig execution.connRef execution.queryType connection
        encounter = some (ended finished)) :
    (operatorSimulation config).Tracks task call (do
        let finished ← Registry.readClock
        emit (.report execution.key obtained (ended finished) execution.tickTs finished.now))
      (fun _ stage _ => IsExecuting execution stage) (.executing execution) state := by
  simp only [Registry.readClock, Simulation.tracks_bind, Simulation.tracks_gets,
    Simulation.tracks_emit, Simulation.tracks_andThen_ok, Simulation.tracks_pure]
  obtain ⟨connection, encounter, same⟩ := executed state.reading
  exact ⟨_, .lookAtClock _, _, .report obtained connection encounter _ unreported same, true, rfl⟩

/-- The key of a connection stays. -/
theorem key_built_apply
    {effect : RegistryEffect}
    {conn : Nat}
    {key : ResourceKey}
    (built : state.built[conn]?.map BuiltConnection.key = some key) :
    (state.apply effect).built[conn]?.map BuiltConnection.key = some key := by
  obtain ⟨connection, position, rfl⟩ := Option.map_eq_some_iff.mp built
  have inside := (List.getElem?_eq_some_iff.mp position).1
  cases effect with
  | construct builder key spec credentials =>
      simp only [RegistryState.apply, List.getElem?_append_left inside, position]
      rfl
  | becomeReady other =>
      simp only [RegistryState.apply, List.getElem?_modify, position]
      by_cases same : other = conn <;> simp [same]
  | _ => exact built

/-- What an execution knows of its connection while it awaits the answer. -/
def Knows (label connRef : String) (conn : Nat) (state : RegistryState) : Prop :=
  state.config.nodeLabel = label ∧
    state.built[conn]?.map BuiltConnection.key = some (resourceKey none connRef)

private theorem stable_knows (label connRef : String) (conn : Nat) :
    truthfulContract.Stable task (Knows label connRef conn) := by
  intro other effect before _ _ _ known
  refine ⟨?_, key_built_apply known.2⟩
  have same : (registryLoop.apply effect before).config = before.config :=
    RegistryState.config_apply
  rw [same]
  exact known.1

/-- Only the absence of live nodes comes with the members. -/
theorem reportRaised_congr
    {exception : Raised}
    (other : ∀ message, exception ≠ .noLiveNodesError message)
    (first second : Option (List String)) :
    reportRaised exception first = reportRaised exception second := by
  cases exception with
  | noLiveNodesError message => exact absurd rfl (other message)
  | _ => rfl

/-- The report of a data query is that of its answer. -/
private theorem executed_data
    {queried : Except Raised (List Row)}
    {connection : ClickHouseConnection}
    {script : List DataAttempt}
    {run : DataQueryRun}
    (answered : connection.topology.executeDataQuery connection.spec.maxFailovers script =
      some run)
    (result : run.result = queried)
    (durationSeconds : Time) :
    execute state.config.toOperatorConfig connRef .data (some connection)
        { script := script, durationSeconds := durationSeconds } =
      some (.reported (reportData queried durationSeconds)) := by
  simp only [execute, answered, Option.map_some, result]

/-- The report of a system query is that of its answer. -/
private theorem executed_system
    {queried : Except Raised SystemQueryResult}
    {connection : ClickHouseConnection}
    {events : List FanOutEvent}
    (answered : connection.topology.executeSystemQuery state.config.nodeLabel events =
      some queried)
    (durationSeconds : Time) :
    execute state.config.toOperatorConfig connRef .system (some connection)
        { fanOut := events, durationSeconds := durationSeconds } =
      some (.reported
        (reportSystem queried connection.topology.memberHosts durationSeconds)) := by
  simp only [execute, answered, Option.map_some]

/-- The report that an execution makes of an exception in a state. -/
def exceptionReport
    (connRef : String)
    (queryType : QueryType)
    (exception : Raised)
    (state : RegistryState) : ExecutionOutcome :=
  match queryType, state.getConnection connRef with
  | .system, some conn => reportRaised exception (some (state.memberHosts conn state.readings))
  | _, _ => reportRaised exception none

private theorem tracks_reportException
    {exception : Raised}
    {goal : Except HandlerFault ExecutionOutcome → Stage → RegistryState → Prop}
    {stage : Stage}
    (reported : goal (.ok (exceptionReport connRef queryType exception state)) stage state) :
    (operatorSimulation config).Tracks task call
      (Registry.reportException connRef queryType exception) goal stage state := by
  simp only [Registry.reportException, Simulation.tracks_bind, Simulation.tracks_gets,
    Simulation.tracks_andThen_ok]
  unfold exceptionReport at reported
  cases queryType with
  | data => exact reported
  | system =>
      cases found : state.getConnection connRef with
      | none =>
          rw [found] at reported
          exact reported
      | some conn =>
          rw [found] at reported
          simp only [Simulation.tracks_bind, Simulation.tracks_gets,
            Simulation.tracks_andThen_ok, Simulation.tracks_pure]
          exact reported

/-- What an execution makes of the answer of its connection is how an execution of the
operator ends. -/
def ReportsTruly
    (connRef : String)
    (queryType : QueryType)
    (outcome : Except HandlerFault (Time → ExecutionOutcome))
    (state : RegistryState) : Prop :=
  match outcome with
  | .ok report => ∀ durationSeconds, ∃ connection encounter,
      execute state.config.toOperatorConfig connRef queryType (some connection) encounter =
        some (.reported (report durationSeconds))
  | .error fault => ∀ exception, fault.exception? = some exception →
      ∃ connection encounter,
        execute state.config.toOperatorConfig connRef queryType (some connection) encounter =
          some (.reported (exceptionReport connRef queryType exception state))

/-- The exception of a system query is reported as the operator does. -/
private theorem exceptionReport_system
    {connection : ClickHouseConnection}
    {events : List FanOutEvent}
    {conn : Nat}
    {exception : Raised}
    (wellformed : state.Wellformed)
    (known : Knows state.config.nodeLabel connRef conn state)
    (answered : connection.topology.executeSystemQuery state.config.nodeLabel events =
      some (.error exception))
    (refused : ∀ message, exception = .noLiveNodesError message →
      (∃ name, state.getConnection name = some conn) ∧
        state.memberHosts conn state.readings = connection.topology.memberHosts) :
    ∃ connection encounter,
      execute state.config.toOperatorConfig connRef .system (some connection) encounter =
        some (.reported (exceptionReport connRef .system exception state)) := by
  have same : exceptionReport connRef .system exception state =
      reportRaised exception (some connection.topology.memberHosts) := by
    by_cases noLive : ∃ message, exception = .noLiveNodesError message
    · obtain ⟨message, rfl⟩ := noLive
      obtain ⟨⟨name, found⟩, members⟩ := refused message rfl
      obtain ⟨built, position, keyed⟩ := wellformed.keyed _ conn found
      have key := known.2
      rw [position, Option.map_some, keyed] at key
      obtain rfl := RegistryState.resourceKey_none_injective (Option.some.inj key)
      simp only [exceptionReport, found, members]
    · have other : ∀ message, exception ≠ .noLiveNodesError message :=
        fun message equal => noLive ⟨message, equal⟩
      simp only [exceptionReport]
      split
      · exact reportRaised_congr other _ _
      · exact reportRaised_congr other _ _
  rw [same]
  exact ⟨connection, _, executed_system answered 0⟩

/-- What an execution awaits, and what it makes of the answer. -/
private theorem tracks_runQuery
    {conn : Nat}
    {goal : Except HandlerFault (Time → ExecutionOutcome) → Stage → RegistryState → Prop}
    {stage : Stage}
    (rests : stage = Stage.initial call)
    (known : Knows state.config.nodeLabel connRef conn state)
    (answered : ∀ outcome later, ReportsTruly connRef queryType outcome later →
      goal outcome stage later) :
    (operatorSimulation config).Tracks task call (Registry.runQuery conn queryType sql timeout)
      goal stage state := by
  unfold Registry.runQuery Registry.ask
  cases queryType with
  | system =>
      simp only [Simulation.tracks_bind, Simulation.tracks_gets, Simulation.tracks_andThen_ok]
      refine Simulation.tracks_await _ rests (stable_knows _ connRef conn) known ?_
      intro later outcome invariant knownLater allowed
      have truly := allowed.2 _ outcome rfl
      have label : Knows later.config.nodeLabel connRef conn later := ⟨rfl, knownLater.2⟩
      cases outcome with
      | ok result =>
          obtain ⟨connection, events, queried, _⟩ := truly (.ok result) rfl
          rw [← knownLater.1] at queried
          apply answered
          exact fun durationSeconds =>
            ⟨connection, _, executed_system queried durationSeconds⟩
      | error fault =>
          apply answered
          intro exception caught
          have seen : observed? (.error fault : Except HandlerFault SystemQueryResult) =
              some (.error exception) := by rw [observed?, caught, Option.map_some]
          obtain ⟨connection, events, queried, refused⟩ := truly (.error exception) seen
          rw [← knownLater.1] at queried
          refine exceptionReport_system invariant.1 label queried ?_
          exact fun message same => refused message (congrArg _ same)
  | data =>
      simp only [Simulation.tracks_bind]
      refine Simulation.tracks_await _ rests (stable_knows _ connRef conn) known ?_
      intro later outcome invariant knownLater allowed
      have truly := allowed.2 _ outcome rfl
      cases outcome with
      | ok rows =>
          obtain ⟨connection, script, run, ran, result⟩ := truly (.ok rows) rfl
          apply answered
          exact fun durationSeconds =>
            ⟨connection, _, executed_data ran result durationSeconds⟩
      | error fault =>
          apply answered
          intro exception caught
          have seen : observed? (.error fault : Except HandlerFault (List Row)) =
              some (.error exception) := by rw [observed?, caught, Option.map_some]
          obtain ⟨connection, script, run, ran, result⟩ := truly (.error exception) seen
          exact ⟨connection, _, executed_data ran result 0⟩

/-- An execution reports once at most, as an execution of the operator ends. -/
private theorem tracks_executeQuery
    {execution : Promch.Task}
    (unreported : execution.reported = false)
    (rests : .executing execution = Stage.initial call)
    (invariant : truthfulContract.inv state) :
    (operatorSimulation config).Tracks task call
      (Registry.executeQuery execution.key execution.connRef execution.queryType sql timeout
        execution.tickTs)
      (fun _ stage _ => IsExecuting execution stage) (.executing execution) state := by
  have waiting : IsExecuting execution (.executing execution) :=
    ⟨execution.reported, rfl⟩
  unfold Registry.executeQuery
  rw [Simulation.tracks_bind]
  simp only [Registry.readClock, Simulation.tracks_bind, Simulation.tracks_gets,
    Simulation.tracks_emit, Simulation.tracks_andThen_ok, Simulation.tracks_pure]
  refine ⟨_, .lookAtClock _, ?_⟩
  have permitted : state.Permits task .lookAtClock := trivial
  have wellformed : (registryLoop.apply .lookAtClock state).Wellformed :=
    invariant.1.apply permitted
  generalize registryLoop.apply .lookAtClock state = begun at wellformed ⊢
  cases found : begun.getConnection execution.connRef with
  | none =>
      apply tracks_report unreported
      exact fun finished => ⟨none, { durationSeconds := 0 }, rfl⟩
  | some conn =>
      simp only [Simulation.tracks_bind, Simulation.tracks_gets, Simulation.tracks_attempt,
        Simulation.tracks_andThen_ok]
      have known : Knows begun.config.nodeLabel execution.connRef conn begun := by
        obtain ⟨connection, position, keyed⟩ := wellformed.keyed _ conn found
        exact ⟨rfl, by rw [position, Option.map_some, keyed]⟩
      refine tracks_runQuery rests known ?_
      intro outcome later reports
      cases outcome with
      | ok report =>
          apply tracks_report unreported
          intro finished
          obtain ⟨connection, encounter, executed⟩ := reports _
          exact ⟨some connection, encounter, executed⟩
      | error fault =>
          cases caught : fault.exception? with
          | none =>
              simp only [caught]
              exact waiting
          | some exception =>
              simp only [caught]
              rw [Simulation.tracks_bind]
              apply tracks_reportException
              apply tracks_report unreported
              intro finished
              obtain ⟨connection, encounter, executed⟩ := reports exception caught
              exact ⟨some connection, encounter, executed⟩

/-- All programs are tracked by the operator. -/
theorem trackingBodies : (operatorSimulation config).TrackingBodies := by
  intro task call state invariant _
  have ofConnections : call.isOfConnections = true → Stage.initial call = .idle →
      (operatorSimulation config).Tracks task call (registryLoop.body call)
        (fun _ stage _ => stage = .idle) (Stage.initial call) state := by
    intro connections idle
    refine (Simulation.tracks_of_writes (RegistryCall.writes_ofConnections connections) rfl ?_
      state).mono fun _ _ _ same => same.trans idle
    rw [idle]
    exact fun effect before ofConnections => .ofConnections ofConnections
  cases call with
  | present resourceNamespace name spec | update resourceNamespace name spec
  | recheck resourceNamespace name spec | topology resourceNamespace name spec
  | delete resourceNamespace name | cleanup | closeBounded conn => exact ofConnections rfl rfl
  | registerQuery key spec queryType =>
      change (operatorSimulation config).Tracks task _ (Registry.registerQuery key spec queryType)
        _ _ _
      simp only [Registry.registerQuery, Simulation.tracks_bind, Simulation.tracks_emit,
        Simulation.tracks_andThen_ok, Simulation.tracks_pure]
      exact ⟨.idle, .register key spec queryType, rfl⟩
  | deregisterQuery key =>
      change (operatorSimulation config).Tracks task _ (Registry.deregisterQuery key) _ _ _
      simp only [Registry.deregisterQuery, Simulation.tracks_bind, Simulation.tracks_emit,
        Simulation.tracks_andThen_ok, Simulation.tracks_pure]
      exact ⟨.idle, .unregister key, rfl⟩
  | tick key query => exact tracks_tick query
  | execute key connRef queryType sql timeout tickTs =>
      change (operatorSimulation config).Tracks task _
        (Registry.execute key connRef queryType sql timeout tickTs) _ _ _
      simp only [Registry.execute, Simulation.tracks_bind, Simulation.tracks_attempt,
        Simulation.tracks_andThen_ok]
      have runs : (operatorSimulation config).Tracks task
          (.execute key connRef queryType sql timeout tickTs)
          (Registry.executeQuery key connRef queryType sql timeout tickTs)
          (fun _ stage _ => IsExecuting
            { key := key, connRef := connRef, queryType := queryType, tickTs := tickTs } stage)
          (Stage.initial (.execute key connRef queryType sql timeout tickTs)) state :=
        tracks_executeQuery rfl rfl invariant
      refine runs.mono ?_
      rintro outcome _ now ⟨reported, rfl⟩
      simp only [Simulation.tracks_bind, Simulation.tracks_emit, Simulation.tracks_andThen_ok,
        Simulation.tracks_conclude]
      refine ⟨.idle, .finish _, ?_⟩
      cases outcome <;> exact rfl
  | doneCallback key =>
      change (operatorSimulation config).Tracks task _ (Registry.doneCallback key) _ _ _
      simp only [Registry.doneCallback, Simulation.tracks_bind, Simulation.tracks_emit,
        Simulation.tracks_andThen_ok, Simulation.tracks_pure]
      exact ⟨.idle, .callBack key, rfl⟩

end operatorSimulation

/-! ## Runs -/

/-- Lists that agree on a test at every position have as many that meet it. -/
private theorem countP_eq_of_agree
    {firsts : List α}
    {seconds : List β}
    {first : α → Bool}
    {second : β → Bool}
    (length : firsts.length = seconds.length)
    (agree : ∀ (position : Nat) left right, firsts[position]? = some left →
      seconds[position]? = some right → first left = second right) :
    firsts.countP first = seconds.countP second := by
  induction firsts generalizing seconds with
  | nil => rw [List.eq_nil_of_length_eq_zero length.symm]; rfl
  | cons left rest inductionHypothesis =>
      cases seconds with
      | nil => cases length
      | cons right others =>
          have same := inductionHypothesis (Nat.succ.inj length) fun position =>
            agree (position + 1)
          rw [List.countP_cons, List.countP_cons, same, agree 0 left right rfl rfl]

theorem Stage.key?_initial (call : RegistryCall) : (Stage.initial call).key? = call.slot? := by
  cases call <;> rfl

section Runs

variable {config : SchedulerConfig} {operatorNamespace : String}
variable {clock : Nat → ClockReading} {memberHosts : Nat → Nat → List String}
variable {system : RegistrySystem}

/-- As many executions are pending as tasks that are not over. -/
theorem pendingCount_eq_outstanding
    {stages : List Stage}
    {operator : Operator}
    (describes : (operatorSimulation config).Describes stages operator system)
    (key : String) :
    operator.pendingCount key = RegistrySystem.outstanding system key := by
  rw [describes.appears.counted key]
  apply countP_eq_of_agree describes.length
  intro task stage entry here found
  have fits := describes.fits task entry stage found here
  obtain ⟨call, status⟩ := entry
  cases status with
  | created =>
      obtain rfl : stage = Stage.initial call := fits
      simp [Stage.key?_initial, Status.outcome?]
  | awaiting request next | joining children next =>
      obtain rfl : stage = Stage.initial call := fits.1
      simp [Stage.key?_initial, Status.outcome?]
  | ended outcome =>
      obtain rfl : stage = .idle := fits
      simp [Stage.key?, Status.outcome?]

/-- Every run of the event loop in which connections answer truly is a run of the
operator, which leads to the same collector, shows the same connections as ready, and
has as many executions pending. -/
theorem operator_of_reaches
    {condition : RegistrySystem → RegistryAction → Prop}
    (handlers : ∀ before call, condition before (.start call) → call.isHandler = true)
    (truly : ∀ before task request outcome, condition before (.answer task request outcome) →
      RegistryRequest.AnsweredTruly request outcome before.state)
    (reaches : registryLoop.Reaches condition
      (RegistrySystem.start config operatorNamespace clock memberHosts) system) :
    ∃ steps,
      ((startOperator config).run config steps).collector = system.state.collector ∧
      (∀ connRef, ((startOperator config).run config steps).isReady connRef =
        system.state.isServing connRef) ∧
      ∀ key, ((startOperator config).run config steps).pendingCount key =
        RegistrySystem.outstanding system key := by
  have appears : (operatorSimulation config).appears
      (RegistryState.start config operatorNamespace clock memberHosts) []
      (startOperator config) := by
    refine ⟨rfl, rfl, fun _ => rfl, ⟨fun _ => none, ?_⟩, fun _ => rfl⟩
    constructor
    · rintro position stage ⟨⟩
    · rintro first second id ⟨⟩
    · exact fun _ _ => rfl
  have sound : truthfulContract.Sound
      (RegistrySystem.start config operatorNamespace clock memberHosts) :=
    Contract.sound_idle
      ⟨RegistryState.wellformed_start config operatorNamespace clock memberHosts, trivial⟩
      (RegistryState.not_mentions_start config operatorNamespace clock memberHosts)
  have permits : ∀ before action, condition before action →
      truthfulContract.Permits before action := by
    intro before action met
    refine Contract.permits_assuming (freePolicy_permits before action) ?_
    rintro task request outcome rfl
    exact truly before task request outcome met
  obtain ⟨stages, operator, taken, describes⟩ := Simulation.describes_of_reaches
    freePolicy.safeBodies.assuming operatorSimulation.trackingBodies
    (Simulation.describes_idle appears) sound permits handlers reaches
  obtain ⟨steps, rfl⟩ := Operator.exists_run_of_steps taken
  exact ⟨steps, describes.appears.collector,
    RegistryState.isReady_of_shown describes.appears.connections,
    pendingCount_eq_outstanding describes⟩

end Runs

/-- Handlers are started, and data queries, but no system query, are answered with rows. -/
def answersDataQueries (_ : RegistrySystem) : RegistryAction → Bool
  | .start call => call.isHandler
  | .answer _ (.executeDataQuery _ _ _) outcome => outcome.isOk
  | .answer _ (.executeSystemQuery _ _ _ _) _ => false
  | _ => true

/-- The first of two live nodes answers a data query with the rows. -/
private theorem answeredTruly_of_rows
    {system : RegistrySystem}
    {task : Nat}
    {request : RegistryRequest}
    {outcome : Except HandlerFault request.Answer}
    (met : answersDataQueries system (.answer task request outcome) = true) :
    request.AnsweredTruly outcome system.state := by
  cases request with
  | executeDataQuery conn sql timeout =>
      cases outcome with
      | error fault => cases met
      | ok rows =>
          rintro queried ⟨⟩
          exact ⟨twoLiveNodes, [{ choice := 0, outcome := .answered rows, clock := ⟨2, 2⟩ }],
            _, rfl, rfl⟩
  | executeSystemQuery conn sql timeout nodeLabel => cases met
  | _ => trivial

/-- The report of a data query, and then a second execution that awaits its answer. -/
theorem operator_of_reaches_answered :
    ∃ (system : RegistrySystem) (steps : List OperatorStep),
      ((startOperator defaultSchedulerConfig).run defaultSchedulerConfig steps).collector =
        system.state.collector ∧
      (system.state.collector.entries.get? "k").map CachedMetric.up = some true ∧
      ((startOperator defaultSchedulerConfig).run defaultSchedulerConfig steps).pendingCount
        "k" = 1 := by
  obtain ⟨system, reaches, found⟩ := RegistrySystem.exists_reached answersDataQueries
    (launchOnReady ++
      [.begin 3, .answer 3 (.executeDataQuery 0 "q" 10) (.ok [ClusterTopology.unitRow]),
        .begin 4, .start (.tick "k" queryOnX), .begin 5, .begin 6])
    (fun system => (system.state.collector.entries.get? "k").map CachedMetric.up = some true ∧
      RegistrySystem.outstanding system "k" = 1)
    (by decide +kernel)
  obtain ⟨up, outstanding⟩ := of_decide_eq_true found
  have handlers : ∀ (before : RegistrySystem) (call : RegistryCall),
      answersDataQueries before (.start call) = true → call.isHandler = true :=
    fun _ _ met => met
  obtain ⟨steps, collector, _, pending⟩ :=
    operator_of_reaches handlers (fun _ _ _ _ met => answeredTruly_of_rows met) reaches
  exact ⟨system, steps, collector, up, (pending "k").trans outstanding⟩

/-! ## Whatever the connections answer -/

/-- One effect keeps the collector within what the handlers can reach. -/
theorem RegistryState.reachable_apply
    {state : RegistryState}
    {effect : RegistryEffect}
    (reachable : Reachable state.config.toOperatorConfig state.collector) :
    Reachable state.config.toOperatorConfig (state.apply effect).collector := by
  cases effect with
  | collect op => exact reachable.op op
  | launch key query tickTs => exact reachable.op (.incInflight key)
  | report key obtained ended tickTs now =>
      cases ended with
      | connectionGone message => exact reachable.connectionGone key message now
      | reported outcome => exact reachable.op (outcome.op key tickTs now)
  | _ => exact reachable

/-- Every run of the event loop, whatever is answered and whoever is cancelled, leaves
a collector that operations of the handlers reach. -/
theorem reachable_of_reaches
    {condition : RegistrySystem → RegistryAction → Prop}
    {config : SchedulerConfig}
    {operatorNamespace : String}
    {clock : Nat → ClockReading}
    {memberHosts : Nat → Nat → List String}
    {system : RegistrySystem}
    (reaches : registryLoop.Reaches condition
      (RegistrySystem.start config operatorNamespace clock memberHosts) system) :
    Reachable config.toOperatorConfig system.state.collector := by
  have both : system.state.config = config ∧
      Reachable config.toOperatorConfig system.state.collector := by
    refine Machine.Reaches.keeps
      (fun state _ => state.config = config ∧ Reachable config.toOperatorConfig state.collector)
      reaches ?_ ?_ ⟨rfl, .start⟩
    · rintro effect state _ ⟨rfl, reachable⟩
      exact ⟨RegistryState.config_apply, RegistryState.reachable_apply reachable⟩
    · exact fun _ _ _ kept => kept
  exact both.2

end Promch
